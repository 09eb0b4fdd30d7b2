import Mathlib.Logic.Function.Basic
import Mathlib.Data.List.Basic

/-!
# Open addressing with probe lists

A table of slots `occ : ι → Option κ` says which key, if any, each slot holds.  A search for a key
walks a list of slots and stops at the first one that holds the key (`hit`), at the first free one
(`empty`), or at the end of the list (`full`).  `trail` is the part of the list it passes over.

`Chained occ probes` is the invariant open addressing rests on: the search for a stored key, along
that key's own probe list, ends at the slot that holds it.  Inserting at the free slot a search
stopped at keeps it (`Chained.insert`).  Erasing a slot keeps it exactly when no other stored key's
trail crosses that slot (`Chained.erase`, `locate_erase_of_mem_trail`).

`Nested occ probes ks` adds an order of insertion, newest first: no trail crosses a slot of a newer
key, so that erasing in last-in first-out order is always safe.
-/

namespace Probing

variable {ι κ : Type} [DecidableEq κ]

/-- Where a search stops. -/
inductive Stop (ι : Type) where
  | hit (i : ι)
  | empty (i : ι)
  | full
  deriving DecidableEq, Repr

/-- The search for `k` along a list of slots. -/
def locate (occ : ι → Option κ) (k : κ) : List ι → Stop ι
  | [] => .full
  | i :: is =>
    match occ i with
    | none => .empty i
    | some k' => if k' = k then .hit i else locate occ k is

/-- The slots the search for `k` passes over: those held by other keys before it stops. -/
def trail (occ : ι → Option κ) (k : κ) : List ι → List ι
  | [] => []
  | i :: is =>
    match occ i with
    | none => []
    | some k' => if k' = k then [] else i :: trail occ k is

/-! ### Where a search can stop -/

section Search

variable {occ : ι → Option κ} {k : κ} {i : ι} {is : List ι}

theorem locate_cons_of_none (h : occ i = none) : locate occ k (i :: is) = .empty i := by
  rw [locate, h]

theorem locate_cons_of_eq (h : occ i = some k) : locate occ k (i :: is) = .hit i := by
  rw [locate, h]
  exact if_pos rfl

theorem locate_cons_of_ne {k' : κ} (h : occ i = some k') (hne : k' ≠ k) :
    locate occ k (i :: is) = locate occ k is := by
  rw [locate, h]
  exact if_neg hne

theorem trail_cons_of_none (h : occ i = none) : trail occ k (i :: is) = [] := by
  rw [trail, h]

theorem trail_cons_of_eq (h : occ i = some k) : trail occ k (i :: is) = [] := by
  rw [trail, h]
  exact if_pos rfl

theorem trail_cons_of_ne {k' : κ} (h : occ i = some k') (hne : k' ≠ k) :
    trail occ k (i :: is) = i :: trail occ k is := by
  rw [trail, h]
  exact if_neg hne

/-- The three ways a slot can stand to a key. -/
theorem slot_cases (occ : ι → Option κ) (k : κ) (i : ι) :
    occ i = none ∨ occ i = some k ∨ ∃ k', occ i = some k' ∧ k' ≠ k := by
  cases h : occ i with
  | none => exact Or.inl rfl
  | some k' =>
    by_cases hk : k' = k
    · exact Or.inr (Or.inl (by rw [hk]))
    · exact Or.inr (Or.inr ⟨k', rfl, hk⟩)

theorem holds_of_locate_eq_hit (h : locate occ k is = .hit i) : occ i = some k := by
  induction is with
  | nil => cases h
  | cons j is ih =>
    rcases slot_cases occ k j with hj | hj | ⟨k', hj, hne⟩
    · rw [locate_cons_of_none hj] at h; cases h
    · rw [locate_cons_of_eq hj] at h; cases h; exact hj
    · rw [locate_cons_of_ne hj hne] at h; exact ih h

theorem free_of_locate_eq_empty (h : locate occ k is = .empty i) : occ i = none := by
  induction is with
  | nil => cases h
  | cons j is ih =>
    rcases slot_cases occ k j with hj | hj | ⟨k', hj, hne⟩
    · rw [locate_cons_of_none hj] at h; cases h; exact hj
    · rw [locate_cons_of_eq hj] at h; cases h
    · rw [locate_cons_of_ne hj hne] at h; exact ih h

/-- A search that reaches the end of its list passed over slots of other keys only. -/
theorem occupied_of_locate_eq_full (h : locate occ k is = .full) (hi : i ∈ is) :
    ∃ k', occ i = some k' ∧ k' ≠ k := by
  induction is with
  | nil => cases hi
  | cons j is ih =>
    rcases slot_cases occ k j with hj | hj | ⟨k', hj, hne⟩
    · rw [locate_cons_of_none hj] at h; cases h
    · rw [locate_cons_of_eq hj] at h; cases h
    · rw [locate_cons_of_ne hj hne] at h
      rcases List.mem_cons.mp hi with rfl | hi
      · exact ⟨k', hj, hne⟩
      · exact ih h hi

/-- A search that only comes to slots of other keys reaches the end of its list. -/
theorem locate_eq_full (h : ∀ i ∈ is, ∃ k', occ i = some k' ∧ k' ≠ k) : locate occ k is = .full := by
  induction is with
  | nil => rfl
  | cons j is ih =>
    obtain ⟨k', hj, hne⟩ := h j List.mem_cons_self
    rw [locate_cons_of_ne hj hne]
    exact ih fun i hi => h i (List.mem_cons_of_mem _ hi)

theorem occupied_of_mem_trail (hi : i ∈ trail occ k is) : ∃ k', occ i = some k' ∧ k' ≠ k := by
  induction is with
  | nil => cases hi
  | cons j is ih =>
    rcases slot_cases occ k j with hj | hj | ⟨k', hj, hne⟩
    · rw [trail_cons_of_none hj] at hi; cases hi
    · rw [trail_cons_of_eq hj] at hi; cases hi
    · rw [trail_cons_of_ne hj hne] at hi
      rcases List.mem_cons.mp hi with rfl | hi
      · exact ⟨k', hj, hne⟩
      · exact ih hi

theorem not_mem_trail_of_free (h : occ i = none) : i ∉ trail occ k is := by
  intro hi
  obtain ⟨k', hk', -⟩ := occupied_of_mem_trail hi
  rw [h] at hk'
  cases hk'

/-- A search that comes to a slot of its key past slots of other keys stops there. -/
theorem locate_eq_hit_of_getElem? {m : ℕ} (hm : is[m]? = some i) (hi : occ i = some k)
    (hbefore : ∀ q < m, ∀ j, is[q]? = some j → ∃ k', occ j = some k' ∧ k' ≠ k) :
    locate occ k is = .hit i := by
  induction is generalizing m with
  | nil => cases hm
  | cons j is ih =>
    cases m with
    | zero =>
      rw [List.getElem?_cons_zero, Option.some.injEq] at hm
      rw [hm, locate_cons_of_eq hi]
    | succ m =>
      rw [List.getElem?_cons_succ] at hm
      obtain ⟨k', hj, hne⟩ := hbefore 0 (Nat.succ_pos m) j rfl
      rw [locate_cons_of_ne hj hne]
      refine ih hm ?_
      intro q hq j' hj'
      exact hbefore (q + 1) (Nat.succ_lt_succ hq) j' hj'

end Search

/-! ### One slot changes -/

section Update

variable [DecidableEq ι] {occ : ι → Option κ} {k k' : κ} {i j : ι} {is : List ι}

/-- A slot that the search neither passes nor stops at may change freely. -/
theorem locate_update_of_hit {v : Option κ} (h : locate occ k is = .hit j)
    (htrail : i ∉ trail occ k is) (hne : i ≠ j) :
    locate (Function.update occ i v) k is = .hit j ∧
      trail (Function.update occ i v) k is = trail occ k is := by
  induction is with
  | nil => cases h
  | cons l is ih =>
    rcases slot_cases occ k l with hl | hl | ⟨k₁, hl, hk₁⟩
    · rw [locate_cons_of_none hl] at h; cases h
    · rw [locate_cons_of_eq hl] at h
      cases h
      have hl' : Function.update occ i v j = some k := by
        rw [Function.update_of_ne hne.symm, hl]
      exact ⟨locate_cons_of_eq hl', by rw [trail_cons_of_eq hl', trail_cons_of_eq hl]⟩
    · rw [locate_cons_of_ne hl hk₁] at h
      rw [trail_cons_of_ne hl hk₁] at htrail
      have hil : l ≠ i := fun e => htrail (e ▸ List.mem_cons_self)
      have hl' : Function.update occ i v l = some k₁ := by rw [Function.update_of_ne hil, hl]
      obtain ⟨h1, h2⟩ := ih h (fun hi => htrail (List.mem_cons_of_mem _ hi))
      rw [locate_cons_of_ne hl' hk₁, trail_cons_of_ne hl' hk₁, trail_cons_of_ne hl hk₁, h2]
      exact ⟨h1, rfl⟩

/-- Filling a free slot leaves the search for a stored key as it was. -/
theorem locate_insert_of_hit (hi : occ i = none) (h : locate occ k is = .hit j) :
    locate (Function.update occ i (some k')) k is = .hit j ∧
      trail (Function.update occ i (some k')) k is = trail occ k is := by
  refine locate_update_of_hit h (not_mem_trail_of_free hi) ?_
  rintro rfl
  rw [holds_of_locate_eq_hit h] at hi
  cases hi

/-- Filling the free slot a search stopped at makes the search find it. -/
theorem locate_insert_self (h : locate occ k is = .empty i) :
    locate (Function.update occ i (some k)) k is = .hit i ∧
      trail (Function.update occ i (some k)) k is = trail occ k is := by
  induction is with
  | nil => cases h
  | cons l is ih =>
    rcases slot_cases occ k l with hl | hl | ⟨k₁, hl, hk₁⟩
    · rw [locate_cons_of_none hl] at h
      cases h
      have hl' : Function.update occ i (some k) i = some k := Function.update_self ..
      exact ⟨locate_cons_of_eq hl', by rw [trail_cons_of_eq hl', trail_cons_of_none hl]⟩
    · rw [locate_cons_of_eq hl] at h; cases h
    · rw [locate_cons_of_ne hl hk₁] at h
      have hil : l ≠ i := by
        rintro rfl
        rw [free_of_locate_eq_empty h] at hl
        cases hl
      have hl' : Function.update occ i (some k) l = some k₁ := by
        rw [Function.update_of_ne hil, hl]
      obtain ⟨h1, h2⟩ := ih h
      rw [locate_cons_of_ne hl' hk₁, trail_cons_of_ne hl' hk₁, trail_cons_of_ne hl hk₁, h2]
      exact ⟨h1, rfl⟩

/-- Emptying a slot on a key's trail cuts its search off there. -/
theorem locate_erase_of_mem_trail (h : i ∈ trail occ k is) :
    locate (Function.update occ i none) k is = .empty i := by
  induction is with
  | nil => cases h
  | cons l is ih =>
    by_cases hli : l = i
    · subst hli
      exact locate_cons_of_none (Function.update_self ..)
    · rcases slot_cases occ k l with hl | hl | ⟨k₁, hl, hk₁⟩
      · rw [trail_cons_of_none hl] at h; cases h
      · rw [trail_cons_of_eq hl] at h; cases h
      · rw [trail_cons_of_ne hl hk₁] at h
        have hl' : Function.update occ i none l = some k₁ := by
          rw [Function.update_of_ne hli, hl]
        rw [locate_cons_of_ne hl' hk₁]
        exact ih ((List.mem_cons.mp h).resolve_left (Ne.symm hli))

end Update

/-! ### The chain invariant -/

/-- The search for a stored key along its probe list ends at the slot that holds it. -/
def Chained (occ : ι → Option κ) (probes : κ → List ι) : Prop :=
  ∀ i k, occ i = some k → locate occ k (probes k) = .hit i

section Chain

variable {occ : ι → Option κ} {probes : κ → List ι} {k : κ} {i j : ι}

theorem chained_of_free (h : ∀ i, occ i = none) : Chained occ probes := by
  intro i k hi
  rw [h i] at hi
  cases hi

/-- No key occupies two slots. -/
theorem Chained.slot_unique (h : Chained occ probes) (hi : occ i = some k)
    (hj : occ j = some k) : i = j := by
  have h1 := h i k hi
  rw [h j k hj] at h1
  cases h1
  rfl

theorem Chained.insert [DecidableEq ι] (h : Chained occ probes)
    (hk : locate occ k (probes k) = .empty i) :
    Chained (Function.update occ i (some k)) probes := by
  intro j k' hj
  have hi := free_of_locate_eq_empty hk
  by_cases hji : j = i
  · subst hji
    rw [Function.update_self, Option.some.injEq] at hj
    subst hj
    exact (locate_insert_self hk).1
  · rw [Function.update_of_ne hji] at hj
    exact (locate_insert_of_hit hi (h j k' hj)).1

/-- Emptying a slot keeps the chains of the other keys when none of their trails crosses it. -/
theorem Chained.erase [DecidableEq ι] (h : Chained occ probes)
    (hclear : ∀ j k', j ≠ i → occ j = some k' → i ∉ trail occ k' (probes k')) :
    Chained (Function.update occ i none) probes := by
  intro j k' hj
  by_cases hji : j = i
  · subst hji
    rw [Function.update_self] at hj
    cases hj
  · rw [Function.update_of_ne hji] at hj
    exact (locate_update_of_hit (h j k' hj) (hclear j k' hji hj) (Ne.symm hji)).1

end Chain

/-! ### Last-in first-out tables -/

/-- The table holds the keys `ks`, newest first, and no key's trail crosses a slot of a newer
one. -/
structure Nested (occ : ι → Option κ) (probes : κ → List ι) (ks : List κ) : Prop where
  chained : Chained occ probes
  nodup : ks.Nodup
  mem_iff : ∀ k, k ∈ ks ↔ ∃ i, occ i = some k
  order : ks.Pairwise fun newer older => ∀ i, occ i = some newer → i ∉ trail occ older (probes older)

section Order

variable {occ : ι → Option κ} {probes : κ → List ι} {k : κ} {ks : List κ} {i : ι}

theorem nested_of_free (h : ∀ i, occ i = none) : Nested occ probes [] where
  chained := chained_of_free h
  nodup := List.nodup_nil
  mem_iff k := by simp [h]
  order := List.Pairwise.nil

/-- Inserting a new key at the free slot its search stopped at makes it the newest. -/
theorem Nested.push [DecidableEq ι] (h : Nested occ probes ks)
    (hk : locate occ k (probes k) = .empty i) :
    Nested (Function.update occ i (some k)) probes (k :: ks) := by
  have hi := free_of_locate_eq_empty hk
  have hfresh : k ∉ ks := by
    intro hmem
    obtain ⟨j, hj⟩ := (h.mem_iff k).mp hmem
    rw [h.chained j k hj] at hk
    cases hk
  -- the trails of the keys already stored do not change
  have htrail : ∀ k' ∈ ks, trail (Function.update occ i (some k)) k' (probes k')
      = trail occ k' (probes k') := by
    intro k' hk'
    obtain ⟨j, hj⟩ := (h.mem_iff k').mp hk'
    exact (locate_insert_of_hit hi (h.chained j k' hj)).2
  refine ⟨h.chained.insert hk, List.nodup_cons.mpr ⟨hfresh, h.nodup⟩, ?_, ?_⟩
  · intro k'
    rw [List.mem_cons, h.mem_iff k']
    constructor
    · rintro (rfl | ⟨j, hj⟩)
      · exact ⟨i, Function.update_self ..⟩
      · refine ⟨j, ?_⟩
        rw [Function.update_of_ne, hj]
        rintro rfl
        rw [hi] at hj
        cases hj
    · rintro ⟨j, hj⟩
      by_cases hji : j = i
      · subst hji
        rw [Function.update_self, Option.some.injEq] at hj
        exact Or.inl hj.symm
      · rw [Function.update_of_ne hji] at hj
        exact Or.inr ⟨j, hj⟩
  · refine List.pairwise_cons.mpr ⟨?_, ?_⟩
    · intro k' hk' j hj
      rw [htrail k' hk']
      by_cases hji : j = i
      · subst hji
        exact not_mem_trail_of_free hi
      · rw [Function.update_of_ne hji] at hj
        exact absurd ((h.mem_iff k).mpr ⟨j, hj⟩) hfresh
    · refine h.order.imp_of_mem ?_
      intro newer older hnewer holder hlt j hj
      rw [htrail older holder]
      by_cases hji : j = i
      · subst hji
        exact not_mem_trail_of_free hi
      · rw [Function.update_of_ne hji] at hj
        exact hlt j hj

/-- The slot of the newest key is on no other trail. -/
theorem Nested.newest_clear (h : Nested occ probes (k :: ks)) (hi : occ i = some k) :
    ∀ j k', j ≠ i → occ j = some k' → i ∉ trail occ k' (probes k') := by
  intro j k' hji hj
  have hmem : k' ∈ k :: ks := (h.mem_iff k').mpr ⟨j, hj⟩
  rcases List.mem_cons.mp hmem with rfl | hmem
  · exact absurd (h.chained.slot_unique hj hi) hji
  · exact (List.pairwise_cons.mp h.order).1 k' hmem i hi

/-- Erasing the newest key leaves the older ones in order. -/
theorem Nested.pop [DecidableEq ι] (h : Nested occ probes (k :: ks)) (hi : occ i = some k) :
    Nested (Function.update occ i none) probes ks := by
  have hclear := h.newest_clear hi
  obtain ⟨hfresh, hnodup⟩ := List.nodup_cons.mp h.nodup
  have hstored : ∀ j k', Function.update occ i none j = some k' ↔ j ≠ i ∧ occ j = some k' := by
    intro j k'
    by_cases hji : j = i
    · subst hji; simp
    · simp [hji]
  have htrail : ∀ k' ∈ ks, trail (Function.update occ i none) k' (probes k')
      = trail occ k' (probes k') := by
    intro k' hk'
    obtain ⟨j, hj⟩ := (h.mem_iff k').mp (List.mem_cons_of_mem _ hk')
    have hji : j ≠ i := by
      rintro rfl
      rw [hi, Option.some.injEq] at hj
      exact hfresh (hj ▸ hk')
    exact (locate_update_of_hit (h.chained j k' hj) (hclear j k' hji hj) (Ne.symm hji)).2
  refine ⟨h.chained.erase hclear, hnodup, ?_, ?_⟩
  · intro k'
    constructor
    · intro hk'
      obtain ⟨j, hj⟩ := (h.mem_iff k').mp (List.mem_cons_of_mem _ hk')
      refine ⟨j, (hstored j k').mpr ⟨?_, hj⟩⟩
      rintro rfl
      rw [hi, Option.some.injEq] at hj
      exact hfresh (hj ▸ hk')
    · rintro ⟨j, hj⟩
      obtain ⟨hji, hj⟩ := (hstored j k').mp hj
      have hmem : k' ∈ k :: ks := (h.mem_iff k').mpr ⟨j, hj⟩
      rcases List.mem_cons.mp hmem with rfl | hmem
      · exact absurd (h.chained.slot_unique hj hi) hji
      · exact hmem
  · refine (List.pairwise_cons.mp h.order).2.imp_of_mem ?_
    intro newer older _ holder hlt j hj
    rw [htrail older holder]
    exact hlt j ((hstored j newer).mp hj).2

end Order

end Probing
