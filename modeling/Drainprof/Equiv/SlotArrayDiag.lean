import Drainprof.SlotArrayDiag
import Drainprof.Equiv.GranuleDiag
import Drainprof.Library.Table

/-!
# The direct-mapped table of diagnostic states

`home` is the slot of a granule, `SlotArrayDiag.WF P` the invariant of the array: a slot is occupied
exactly when it has a record, the record is that of a granule whose home the slot is, and it
satisfies `P`.  `SlotArrayDiag.entries f` reads the array as a table of granule ids with the value
`f` of their records, so that the same three lemmas (`WF.tabulates_claim`, `WF.tabulates_rewrite`,
`WF.tabulates_release`) follow an abstract map whatever part of the records it keeps.
-/

namespace Drainprof

open Table

/-! ### The home slot -/

/-- The slot a granule is mapped to. -/
def home {capacity : UInt32} (hc : capacity ≠ 0) (id : GranuleId) : Fin capacity.toNat :=
  ⟨id.toNat % capacity.toNat,
    Nat.mod_lt _ (Nat.pos_of_ne_zero fun h0 => hc (UInt32.toNat_inj.mp h0))⟩

theorem diagSlotIndex_eq {capacity : UInt32} (hc : capacity ≠ 0) (id : GranuleId) :
    diagSlotIndex capacity id = .ok (home hc id) := by
  have hval : (id % capacity.toUInt64).toNat = id.toNat % capacity.toNat := by
    rw [UInt64.toNat_mod, UInt32.toNat_toUInt64]
  rw [diagSlotIndex, dif_neg hc]
  exact congrArg Except.ok (Fin.ext hval)

theorem home_eq_iff {capacity : UInt32} (hc : capacity ≠ 0) {id id' : GranuleId} :
    home hc id = home hc id' ↔ id.toNat % capacity.toNat = id'.toNat % capacity.toNat :=
  Fin.ext_iff

/-! ### Slots -/

theorem DiagSlot.find_eq_some_iff {s : DiagSlot} {id : GranuleId} {d : GranuleDiag} :
    s.find id = some d ↔ s.occupied = true ∧ s.diag = some d ∧ d.granuleId = id := by
  obtain ⟨occupied, diag⟩ := s
  unfold DiagSlot.find
  cases occupied with
  | false => simp
  | true =>
    cases diag with
    | none => simp
    | some d' =>
      by_cases hid : d'.granuleId = id
      · simp only [Bool.not_true, Bool.false_eq_true, if_false, if_pos hid, Option.some.injEq,
          true_and]
        constructor
        · rintro rfl
          exact ⟨rfl, hid⟩
        · exact And.left
      · simp only [Bool.not_true, Bool.false_eq_true, if_false, if_neg hid, Option.some.injEq,
          true_and]
        constructor
        · nofun
        · rintro ⟨rfl, h⟩
          exact absurd h hid

/-- The granule of a slot, if any, with the value `f` of its record. -/
def DiagSlot.entry {β : Type} (f : GranuleDiag → β) (s : DiagSlot) : Option (GranuleId × β) :=
  if s.occupied then s.diag.map fun d => (d.granuleId, f d) else none

namespace SlotArrayDiag

variable {β : Type} {f : GranuleDiag → β} {P : GranuleDiag → Prop} {arr : SlotArrayDiag}
  {i : Fin arr.capacity.toNat}

/-- The entries of the array, slot by slot. -/
def entries (f : GranuleDiag → β) (arr : SlotArrayDiag) : List (Option (GranuleId × β)) :=
  arr.slots.map (DiagSlot.entry f)

theorem getElem?_entries (f : GranuleDiag → β) (arr : SlotArrayDiag)
    (i : Fin arr.capacity.toNat) :
    (arr.entries f)[i.val]? = some ((arr.slot i).entry f) := by
  have hi : i.val < arr.slots.length := by rw [arr.length_slots]; exact i.isLt
  rw [entries, List.getElem?_map, List.getElem?_eq_getElem hi]
  rfl

theorem entries_setSlot (f : GranuleDiag → β) (arr : SlotArrayDiag)
    (i : Fin arr.capacity.toNat) (s : DiagSlot) :
    (arr.setSlot i s).entries f = (arr.entries f).set i (s.entry f) := by
  unfold entries setSlot
  rw [List.map_set]

theorem slot_setSlot_self (arr : SlotArrayDiag) (i : Fin arr.capacity.toNat) (s : DiagSlot) :
    (arr.setSlot i s).slot i = s :=
  List.getElem_set_self _

theorem slot_setSlot_of_ne (arr : SlotArrayDiag) {i j : Fin arr.capacity.toNat} (h : i ≠ j)
    (s : DiagSlot) : (arr.setSlot i s).slot j = arr.slot j :=
  List.getElem_set_ne (fun e => h (Fin.ext e)) _

/-- Writing back what a slot holds changes nothing. -/
theorem setSlot_slot (arr : SlotArrayDiag) (i : Fin arr.capacity.toNat) :
    arr.setSlot i (arr.slot i) = arr := by
  obtain ⟨capacity, slots, hlen⟩ := arr
  simp [setSlot, slot]

/-- Writing back the record that was found changes nothing. -/
theorem setSlot_of_find {id : GranuleId} {d : GranuleDiag}
    (hfind : (arr.slot i).find id = some d) :
    arr.setSlot i ⟨true, some d⟩ = arr := by
  obtain ⟨hocc, hd, -⟩ := DiagSlot.find_eq_some_iff.mp hfind
  have hslot : arr.slot i = ⟨true, some d⟩ := by
    cases hs : arr.slot i with
    | mk occupied diag =>
      rw [hs] at hocc hd
      rw [show occupied = true from hocc, show diag = some d from hd]
  rw [← hslot, arr.setSlot_slot]

/-- A slot that has an entry. -/
theorem exists_of_mem_entries {e : GranuleId × β} (h : some e ∈ arr.entries f) :
    ∃ i : Fin arr.capacity.toNat, (arr.slot i).entry f = some e := by
  obtain ⟨j, hj, he⟩ := List.getElem_of_mem h
  rw [entries, List.length_map, arr.length_slots] at hj
  refine ⟨⟨j, hj⟩, ?_⟩
  have hentry : some ((arr.slot ⟨j, hj⟩).entry f) = some (some e) := by
    rw [← arr.getElem?_entries f ⟨j, hj⟩, ← he]
    exact List.getElem?_eq_getElem _
  exact Option.some.inj hentry

/-- The number of slots in use. -/
def occupiedCount (arr : SlotArrayDiag) : ℕ :=
  arr.slots.countP DiagSlot.occupied

/-! ### The well-formed arrays -/

/-- The invariant of the diagnostic slot array. -/
structure WF (P : GranuleDiag → Prop) (arr : SlotArrayDiag) : Prop where
  capacity_ne : arr.capacity ≠ 0
  occupied_eq : ∀ i, (arr.slot i).occupied = (arr.slot i).diag.isSome
  home_eq : ∀ i, ∀ d ∈ (arr.slot i).diag, home capacity_ne d.granuleId = i
  diag : ∀ i, ∀ d ∈ (arr.slot i).diag, P d

namespace WF

/-- The slot of granule `id`. -/
abbrev home (h : arr.WF P) (id : GranuleId) : Fin arr.capacity.toNat :=
  Drainprof.home h.capacity_ne id

variable {id : GranuleId} {d : GranuleDiag} {m : FinMap GranuleId β}

theorem find_eq_some_iff (h : arr.WF P) :
    (arr.slot i).find id = some d ↔ (arr.slot i).diag = some d ∧ d.granuleId = id := by
  rw [DiagSlot.find_eq_some_iff, h.occupied_eq]
  constructor
  · exact And.right
  · rintro ⟨hd, hid⟩
    exact ⟨by rw [hd]; rfl, hd, hid⟩

/-- A free slot is as the creation of the array left it. -/
theorem slot_eq_free (h : arr.WF P) (hi : (arr.slot i).diag = none) :
    arr.slot i = DiagSlot.free := by
  have hocc := h.occupied_eq i
  rw [hi] at hocc
  cases hs : arr.slot i with
  | mk occupied diag =>
    rw [hs] at hi hocc
    rw [DiagSlot.free]
    congr

theorem entry_eq (h : arr.WF P) (f : GranuleDiag → β) (i : Fin arr.capacity.toNat) :
    (arr.slot i).entry f = (arr.slot i).diag.map fun d => (d.granuleId, f d) := by
  rw [DiagSlot.entry, h.occupied_eq]
  cases (arr.slot i).diag <;> rfl

/-- A slot keeps its invariant when a record at home there is written. -/
theorem write (h : arr.WF P) {d' : GranuleDiag} (hi : h.home d'.granuleId = i) (hd : P d') :
    (arr.setSlot i ⟨true, some d'⟩).WF P where
  capacity_ne := h.capacity_ne
  occupied_eq j := by
    by_cases hji : i = j
    · subst hji
      rw [slot_setSlot_self]
      rfl
    · rw [arr.slot_setSlot_of_ne hji]
      exact h.occupied_eq j
  home_eq j e he := by
    by_cases hji : i = j
    · subst hji
      rw [slot_setSlot_self] at he
      cases he
      exact hi
    · rw [arr.slot_setSlot_of_ne hji] at he
      exact h.home_eq j e he
  diag j e he := by
    by_cases hji : i = j
    · subst hji
      rw [slot_setSlot_self] at he
      cases he
      exact hd
    · rw [arr.slot_setSlot_of_ne hji] at he
      exact h.diag j e he

theorem clear (h : arr.WF P) (i : Fin arr.capacity.toNat) :
    (arr.setSlot i ⟨false, none⟩).WF P where
  capacity_ne := h.capacity_ne
  occupied_eq j := by
    by_cases hji : i = j
    · subst hji
      rw [slot_setSlot_self]
      rfl
    · rw [arr.slot_setSlot_of_ne hji]
      exact h.occupied_eq j
  home_eq j e he := by
    by_cases hji : i = j
    · subst hji
      rw [slot_setSlot_self] at he
      cases he
    · rw [arr.slot_setSlot_of_ne hji] at he
      exact h.home_eq j e he
  diag j e he := by
    by_cases hji : i = j
    · subst hji
      rw [slot_setSlot_self] at he
      cases he
    · rw [arr.slot_setSlot_of_ne hji] at he
      exact h.diag j e he

/-! ### The table as a map -/

/-- A granule of the map is found at home. -/
theorem lookup_eq (h : arr.WF P) (hm : Tabulates (arr.entries f) m) (id : GranuleId) :
    m.lookup id = ((arr.slot (h.home id)).find id).map f := by
  rcases hfind : (arr.slot (h.home id)).find id with _ | d
  · rw [Option.map_none, AList.lookup_eq_none]
    intro hmem
    obtain ⟨b, hb⟩ := hm.mem_iff.mp hmem
    obtain ⟨i, hi⟩ := exists_of_mem_entries hb
    rw [h.entry_eq, Option.map_eq_some_iff] at hi
    obtain ⟨d, hd, heq⟩ := hi
    cases heq
    have := h.home_eq i d hd
    rw [← this] at hd
    rw [h.find_eq_some_iff.mpr ⟨hd, rfl⟩] at hfind
    cases hfind
  · rw [Option.map_some, hm.lookup_eq_some_iff]
    obtain ⟨hd, rfl⟩ := h.find_eq_some_iff.mp hfind
    refine List.mem_of_getElem? ((arr.getElem?_entries f (h.home d.granuleId)).trans ?_)
    rw [h.entry_eq, hd]
    rfl

theorem mem_iff (h : arr.WF P) (hm : Tabulates (arr.entries f) m) :
    id ∈ m ↔ ∃ d, (arr.slot (h.home id)).find id = some d := by
  rw [← AList.lookup_isSome, h.lookup_eq hm, Option.isSome_map, Option.isSome_iff_exists]

/-- The home of a granule is taken exactly when a granule of the map has the same residue. -/
theorem diag_eq_none_iff (h : arr.WF P) (hm : Tabulates (arr.entries f) m) :
    (arr.slot (h.home id)).diag = none ↔
      ∀ k ∈ m, k.toNat % arr.capacity.toNat ≠ id.toNat % arr.capacity.toNat := by
  constructor
  · intro hnone k hk heq
    obtain ⟨d, hd⟩ := (h.mem_iff hm).mp hk
    rw [show h.home k = h.home id from (home_eq_iff _).mpr heq, h.find_eq_some_iff, hnone] at hd
    cases hd.1
  · intro hall
    rcases hd : (arr.slot (h.home id)).diag with _ | d
    · rfl
    · have hhome := h.home_eq _ d hd
      refine absurd ((home_eq_iff h.capacity_ne).mp hhome) (hall d.granuleId ?_)
      refine (h.mem_iff hm).mpr ⟨d, h.find_eq_some_iff.mpr ⟨?_, rfl⟩⟩
      rw [← hd]
      exact congrArg (fun j => (arr.slot j).diag) hhome

/-- The entry of a granule that is found at home. -/
theorem getElem?_entries_of_find (h : arr.WF P) (f : GranuleDiag → β)
    (hfind : (arr.slot (h.home id)).find id = some d) :
    (arr.entries f)[(h.home id).val]? = some (some (id, f d)) := by
  obtain ⟨hd, hgid⟩ := h.find_eq_some_iff.mp hfind
  rw [arr.getElem?_entries, h.entry_eq, hd, Option.map_some, hgid]

/-- Writing a record into a free home inserts its granule. -/
theorem tabulates_claim (h : arr.WF P) (hm : Tabulates (arr.entries f) m) {d' : GranuleDiag}
    (hid : d'.granuleId = id) (hnone : (arr.slot (h.home id)).diag = none) :
    Tabulates ((arr.setSlot (h.home id) ⟨true, some d'⟩).entries f) (m.insert id (f d')) := by
  have hmem : id ∉ m := by
    intro hmem
    obtain ⟨d, hd⟩ := (h.mem_iff hm).mp hmem
    rw [h.find_eq_some_iff, hnone] at hd
    cases hd.1
  have hentry : DiagSlot.entry f ⟨true, some d'⟩ = some (id, f d') := by rw [← hid]; rfl
  rw [entries_setSlot, hentry]
  refine hm.insert ?_ hmem
  rw [arr.getElem?_entries, h.entry_eq, hnone]
  rfl

/-- Rewriting the record of a granule rebinds it. -/
theorem tabulates_rewrite (h : arr.WF P) (hm : Tabulates (arr.entries f) m) {d' : GranuleDiag}
    (hfind : (arr.slot (h.home id)).find id = some d) (hid : d'.granuleId = id) :
    Tabulates ((arr.setSlot (h.home id) ⟨true, some d'⟩).entries f) (m.insert id (f d')) := by
  have hentry : DiagSlot.entry f ⟨true, some d'⟩ = some (id, f d') := by rw [← hid]; rfl
  rw [entries_setSlot, hentry]
  exact hm.update (h.getElem?_entries_of_find f hfind)

/-- Releasing the slot of a granule erases it. -/
theorem tabulates_release (h : arr.WF P) (hm : Tabulates (arr.entries f) m)
    (hfind : (arr.slot (h.home id)).find id = some d) :
    Tabulates ((arr.setSlot (h.home id) ⟨false, none⟩).entries f) (m.erase id) := by
  rw [entries_setSlot]
  exact hm.erase (h.getElem?_entries_of_find f hfind)

end WF

end SlotArrayDiag

end Drainprof
